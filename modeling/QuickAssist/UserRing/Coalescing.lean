import Mathlib.Data.Finset.Card
import QuickAssist.Lib.Run
import QuickAssist.UserRing.Sizing

/-!
# When the device is told the head

A write to the head register of a ring is expensive, so a polling call only tells the device how far it has come if it
has taken more responses than are left of a budget, and takes them off the budget otherwise. Until then the device
believes that the slots are in use. No call takes more responses than there are slots, so that `msg_counter` does not
wrap.

**Outside.** The device writes no response where it believes the ring to be full. One thread polls a ring at a time.
-/

namespace QuickAssist.UserRing

open Lib Function Option Finset

variable {μ : Type*}

/-! ## Polling a response ring -/

def icpNoResponseQuota : ℕ := 10000

inductive Poller
  | notifyMsgs
  /-- `adf_user_notify_msgs_poll`, with the `ringResponseQuota` of the ring. -/
  | notifyMsgsPoll (responseQuota : ℕ)
  | pollQueue (responseQuota : ℕ)

def Poller.quota : Poller → Option ℕ
  | .notifyMsgs => none
  | .notifyMsgsPoll q => some (if q ≠ 0 then q else icpNoResponseQuota)
  | .pollQueue q => some (if q = 0 then icpNoResponseQuota else q)

def Poller.done (p : Poller) (msgCounter : ℕ) : Bool := p.quota.any fun q => !decide (msgCounter < q)

/-- Whether a call tells the device the head in any case, which one does for a ring with interrupts. -/
def Poller.eager (respIrq : Bool) : Poller → Bool
  | .notifyMsgsPoll _ => respIrq
  | _ => false

structure RespRing (μ : Type*) where
  ring : Ring μ
  inFlight : ℕ
  /-- Whether `resp` of the ring is `ICP_RESP_TYPE_IRQ`. -/
  respIrq : Bool
  /-- The call in progress and its `msg_counter`. -/
  poll : Option (Poller × ℕ)
  devTail : ℕ
  written : ℕ
  consumed : ℕ
  told : ℕ

def RespRing.believed (s : RespRing μ) : ℕ := s.written - s.told

def RespRing.BelievedFull (s : RespRing μ) : Prop := 0 < s.believed ∧ s.ring.numSlots ≤ s.believed

inductive RespEvent (μ : Type*)
  | device (resp : μ)
  | call (p : Poller)
  | take
  | finish

/-- One step. The loop of a call goes on while there is a response and the quota is not reached. -/
def respStep (s : RespRing μ) : RespEvent μ → Option (RespRing μ)
  | .device resp =>
    if s.believed < s.ring.numSlots then
      some { s with
        ring := { s.ring with mem := update s.ring.mem s.devTail (some resp) }
        devTail := modulo (u32 (s.devTail + s.ring.messageSize)) s.ring.modulo
        written := s.written + 1 }
    else none
  | .call p => if s.poll.isNone then some { s with poll := some (p, 0) } else none
  | .take =>
    match s.poll with
    | none => none
    | some (p, msgCounter) =>
      if p.done msgCounter then none
      else
        (pollMsg s.ring).map fun r =>
          { s with ring := r.2, poll := some (p, u32 (msgCounter + 1)), consumed := s.consumed + 1 }
  | .finish =>
    match s.poll with
    | none => none
    | some (p, msgCounter) =>
      if p.done msgCounter || (s.ring.mem s.ring.head).isNone then
        let r := pollEnd s.ring s.inFlight msgCounter (p.eager s.respIrq)
        let tells := 0 < msgCounter ∧ (s.ring.coalWriteCount < msgCounter ∨ p.eager s.respIrq = true)
        some { s with ring := r.1, inFlight := r.2, poll := none, told := if tells then s.consumed else s.told }
      else none

def respInit (numMsgs msgSize : ℕ) (respIrq : Bool) : RespRing μ where
  ring := adfInitRing numMsgs msgSize
  inFlight := 0
  respIrq := respIrq
  poll := none
  devTail := 0
  written := 0
  consumed := 0
  told := 0

/-! ## The invariant -/

/-- `msg_counter` of the call in progress. -/
def RespRing.msgCounter (s : RespRing μ) : ℕ := (s.poll.map Prod.snd).getD 0

structure RespRing.Inv (numMsgs msgSize : ℕ) (s : RespRing μ) : Prop where
  messageSize : s.ring.messageSize = msgSize
  modulo : s.ring.modulo = (validateRingSize numMsgs msgSize).2
  numSlots : s.ring.numSlots = sizeToBytes (validateRingSize numMsgs msgSize).1 / msgSize
  budget : s.ring.minRespsPerHeadWrite ≤ s.ring.numSlots / 2
  told_le : s.told + s.msgCounter ≤ s.consumed
  written_le : s.written ≤ s.told + s.ring.numSlots
  waiting : ∃ offsets : Finset ℕ, (∀ o, s.ring.mem o ≠ none → o ∈ offsets) ∧ offsets.card + s.consumed ≤ s.written
  /-- What was taken before the call in progress and what is left of the budget. -/
  coalesced : s.consumed - s.told - s.msgCounter + s.ring.coalWriteCount ≤ s.ring.minRespsPerHeadWrite
  head : s.ring.head = s.consumed * msgSize % 2 ^ s.ring.modulo
  csrHead : s.ring.csrHead = s.told * msgSize % 2 ^ s.ring.modulo

section Steps

variable {numMsgs msgSize : ℕ} {s t : RespRing μ}

lemma modulo_next {shift : ℕ} (hshift : shift ≤ 32) (n size : ℕ) :
    modulo (u32 (n * size % 2 ^ shift + size)) shift = (n + 1) * size % 2 ^ shift := by
  rw [modulo_eq, u32, Nat.mod_mod_of_dvd _ (Nat.pow_dvd_pow 2 hshift), Nat.mod_add_mod, Nat.add_mul, Nat.one_mul]

lemma respInit_inv (numMsgs msgSize : ℕ) (respIrq : Bool) :
    (respInit numMsgs msgSize respIrq : RespRing μ).Inv numMsgs msgSize where
  messageSize := rfl
  modulo := rfl
  numSlots := rfl
  budget := by
    refine (min_le_left _ _).trans ?_
    exact le_rfl
  told_le := le_rfl
  written_le := Nat.zero_le _
  waiting := ⟨∅, fun o ho => absurd rfl ho, le_rfl⟩
  coalesced := Nat.zero_le _
  head := by simp [respInit, adfInitRing]
  csrHead := by simp [respInit, adfInitRing]

section

variable (h : s.Inv numMsgs msgSize)

include h

lemma RespRing.Inv.device {resp : μ} (hstep : respStep s (.device resp) = some t) : t.Inv numMsgs msgSize := by
  simp only [respStep] at hstep
  split at hstep
  next hroom =>
    cases hstep
    refine { h with written_le := ?_, waiting := ?_ }
    · have hlt : s.written - s.told < s.ring.numSlots := hroom
      change s.written + 1 ≤ s.told + s.ring.numSlots
      omega
    · obtain ⟨offsets, hmem, hcard⟩ := h.waiting
      refine ⟨insert s.devTail offsets, fun o ho => ?_, ?_⟩
      · change update s.ring.mem s.devTail (some resp) o ≠ none at ho
        by_cases hoff : o = s.devTail
        · exact hoff ▸ mem_insert_self _ _
        · rw [update_of_ne hoff] at ho
          exact mem_insert_of_mem (hmem o ho)
      · have hinsert := card_insert_le s.devTail offsets
        change _ + s.consumed ≤ s.written + 1
        omega
  next => contradiction

lemma RespRing.Inv.call {p : Poller} (hstep : respStep s (.call p) = some t) : t.Inv numMsgs msgSize := by
  simp only [respStep] at hstep
  split at hstep
  next hidle =>
    have hzero : s.msgCounter = 0 := by
      rw [RespRing.msgCounter, isNone_iff_eq_none.mp hidle]
      rfl
    cases hstep
    refine { h with told_le := ?_, coalesced := ?_ }
    · have htold := h.told_le
      rwa [hzero] at htold
    · have hcoalesced := h.coalesced
      rwa [hzero] at hcoalesced
  next => contradiction

lemma RespRing.Inv.take (hstep : respStep s .take = some t) : t.Inv numMsgs msgSize := by
  simp only [respStep] at hstep
  split at hstep
  next => contradiction
  next p n hpoll =>
    split at hstep
    next => contradiction
    next =>
      obtain ⟨⟨msg, ring⟩, hmsg, rfl⟩ := map_eq_some_iff.mp hstep
      obtain ⟨m, hm, heq⟩ := map_eq_some_iff.mp hmsg
      obtain ⟨rfl, rfl⟩ := Prod.mk.inj heq
      have hcounter : s.msgCounter = n := by
        rw [RespRing.msgCounter, hpoll]
        rfl
      have htold := h.told_le
      have hwritten := h.written_le
      obtain ⟨offsets, hmem, hcard⟩ := h.waiting
      have hhead : s.ring.head ∈ offsets := hmem _ (by rw [hm]; exact some_ne_none m)
      have hpos : 0 < offsets.card := card_pos.mpr ⟨_, hhead⟩
      -- the slots bound what a call takes, so its counter does not wrap
      have hword : u32 (n + 1) = n + 1 := by
        have hslots := numSlots_lt numMsgs msgSize
        rw [← h.numSlots] at hslots
        exact Nat.mod_eq_of_lt (by omega)
      have hcoalesced := h.coalesced
      refine { h with told_le := ?_, written_le := hwritten, waiting := ?_, coalesced := ?_, head := ?_ }
      · change s.told + u32 (n + 1) ≤ s.consumed + 1
        omega
      · refine ⟨offsets.erase s.ring.head, fun o ho => ?_, ?_⟩
        · change update s.ring.mem s.ring.head none o ≠ none at ho
          by_cases hoff : o = s.ring.head
          · rw [hoff, update_self] at ho
            exact absurd rfl ho
          · rw [update_of_ne hoff] at ho
            exact mem_erase.mpr ⟨hoff, hmem o ho⟩
        · rw [card_erase_of_mem hhead]
          change _ + (s.consumed + 1) ≤ s.written
          omega
      · change s.consumed + 1 - s.told - u32 (n + 1) + s.ring.coalWriteCount ≤ _
        exact (by omega : _ ≤ _).trans hcoalesced
      · obtain ⟨k, hk, heq⟩ := exists_validateRingSize_eq numMsgs msgSize
        have hshift : s.ring.modulo ≤ 32 := by
          rw [h.modulo, heq]
          omega
        rw [h.head, h.messageSize, modulo_next hshift]

lemma RespRing.Inv.finish (hstep : respStep s .finish = some t) : t.Inv numMsgs msgSize := by
  simp only [respStep] at hstep
  split at hstep
  next => contradiction
  next p n hpoll =>
    split at hstep
    next =>
      have hcounter : s.msgCounter = n := by
        rw [RespRing.msgCounter, hpoll]
        rfl
      cases hstep
      have htold := h.told_le
      have hcoalesced := h.coalesced
      have hwritten := h.written_le
      rw [hcounter] at htold hcoalesced
      unfold pollEnd
      by_cases hpos : 0 < n
      · by_cases htells : s.ring.coalWriteCount < n ∨ p.eager s.respIrq = true
        · -- the device is told, and the budget is there again
          simp only [hpos, htells, if_true, and_self]
          refine { h with told_le := le_rfl, written_le := ?_, coalesced := ?_, csrHead := h.head }
          · exact hwritten.trans (by simpa [Ring.numSlots] using by omega)
          · simp [RespRing.msgCounter]
        · -- the device is not told, and the budget is lowered
          simp only [hpos, htells, if_true, if_false, and_false]
          refine { h with told_le := ?_, written_le := hwritten, coalesced := ?_ }
          all_goals
            simp only [RespRing.msgCounter, map_none, getD_none]
            omega
      · obtain rfl : n = 0 := by omega
        exact { h with told_le := htold, written_le := hwritten, coalesced := hcoalesced }
    next => contradiction

lemma respStep_inv {e : RespEvent μ} (hstep : respStep s e = some t) : t.Inv numMsgs msgSize := by
  cases e with
  | device resp => exact h.device hstep
  | call p => exact h.call hstep
  | take => exact h.take hstep
  | finish => exact h.finish hstep

end

/-- **When the device is told the head**: at the latest when half of the slots were taken since, so it never
believes a ring to be full whose responses were all taken. -/
theorem head_writes_coalesced (numMsgs msgSize : ℕ) (respIrq : Bool) {es : List (RespEvent μ)}
    {s : RespRing μ} (hrun : Run (ofFun respStep) (respInit numMsgs msgSize respIrq) es s) (hidle : s.poll = none) :
    s.consumed - s.told ≤ s.ring.minRespsPerHeadWrite ∧ s.ring.minRespsPerHeadWrite ≤ s.ring.numSlots / 2 ∧
      (s.ring.csrHead + (s.consumed - s.told) * msgSize) % 2 ^ s.ring.modulo = s.ring.head ∧
      (s.consumed = s.written → ¬ s.BelievedFull) := by
  have hinv : s.Inv numMsgs msgSize :=
    hrun.invariant (fun _ _ _ hs hstep => respStep_inv hs hstep) (respInit_inv numMsgs msgSize respIrq)
  have hcoalesced := hinv.coalesced
  have htold := hinv.told_le
  have hbudget := hinv.budget
  simp only [RespRing.msgCounter, hidle, map_none, getD_none, Nat.add_zero] at hcoalesced htold
  refine ⟨by omega, hbudget, ?_, ?_⟩
  · rw [hinv.csrHead, hinv.head, Nat.mod_add_mod, ← Nat.add_mul, Nat.add_sub_cancel' htold]
  · rintro hdrained ⟨hpos, hfull⟩
    unfold RespRing.believed at hpos hfull
    omega

end Steps

/-- The device is told about the first of two responses; the second one is taken off the budget. -/
theorem one_response_told : ∃ s : RespRing Unit, Run (ofFun respStep) (respInit 64 32 false)
        [.device (), .call (.pollQueue 1), .take, .finish, .device (), .call .notifyMsgs, .take, .finish] s ∧
      s.poll = none ∧ s.consumed = 2 ∧ s.told = 1 ∧ s.consumed - s.told ≤ s.ring.minRespsPerHeadWrite := by
  have hcfg : validateRingSize 64 32 = (ringsizeKilo1 + 1, 11) := by decide +kernel
  have hinit : (respInit 64 32 false : RespRing Unit) =
      ⟨⟨0, 0, 32, 11, 2048, 63, 0, 32, 0, 0, fun _ => none⟩, 0, false, none, 0, 0, 0, 0⟩ := by
    simp only [respInit, adfInitRing, hcfg]
    rfl
  apply Run.exists_and
  · rw [hinit]
    exact exec_run rfl
  · exact fun hrun => ⟨rfl, rfl, rfl, (head_writes_coalesced 64 32 false hrun rfl).1⟩

end QuickAssist.UserRing
